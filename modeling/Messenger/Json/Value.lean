set_option relaxedAutoImplicit false
set_option autoImplicit false

/-!
# JSON values

The values that a JSON text denotes. Numbers without fraction and exponent are kept exactly as
integers while they fit a signed or unsigned word of 64 bits; all other numbers are doubles. The
members of an object are kept in the order of their names, each name once.

## Main definitions

* `Messenger.Json.Value`: the values.
* `Messenger.Json.Value.insertMember`: puts a member at its place in an object.
* `Messenger.Json.Value.Canonical`: integers are in range, and names ascend in every object.
* `Messenger.Json.Value.FloatFree`: no double occurs.
* `Messenger.Json.Value.depth`: how many arrays and objects stand inside one another.

## Main results

* `Messenger.Json.Value.insertMember_ascending`: inserting keeps the names in order.
-/

namespace Messenger.Json

/-- A JSON value. -/
inductive Value
  | null
  | bool (b : Bool)
  | int (n : Int)
  | float (x : Float)
  | text (s : String)
  | array (items : List Value)
  | object (members : List (String × Value))
  deriving BEq, Repr, Inhabited

namespace Value

/-- Puts a member at its place among members whose names ascend. A member of the same name is
replaced: the last one written wins. -/
def insertMember (name : String) (v : Value) : List (String × Value) → List (String × Value)
  | [] => [(name, v)]
  | (other, w) :: rest =>
    if name < other then (name, v) :: (other, w) :: rest
    else if name = other then (name, v) :: rest
    else (other, w) :: insertMember name v rest

/-- The object with the given members, the last one of each name winning. -/
def ofMembers (members : List (String × Value)) : Value :=
  .object (members.foldl (fun acc m => insertMember m.1 m.2 acc) [])

/-- The integers that a value can hold: signed and unsigned words of 64 bits. -/
def IntInRange (n : Int) : Prop :=
  -0x8000000000000000 ≤ n ∧ n < 0x10000000000000000

instance (n : Int) : Decidable (IntInRange n) :=
  inferInstanceAs (Decidable (_ ∧ _))

mutual

/-- Integers are in range, and the names of every object ascend. -/
def Canonical : Value → Prop
  | .int n => IntInRange n
  | .array items => CanonicalItems items
  | .object members => (members.map (·.1)).Pairwise (· < ·) ∧ CanonicalMembers members
  | _ => True

/-- Every item is canonical. -/
def CanonicalItems : List Value → Prop
  | [] => True
  | v :: rest => Canonical v ∧ CanonicalItems rest

/-- The value of every member is canonical. -/
def CanonicalMembers : List (String × Value) → Prop
  | [] => True
  | m :: rest => Canonical m.2 ∧ CanonicalMembers rest

end

mutual

/-- No double occurs in the value. -/
def FloatFree : Value → Prop
  | .float _ => False
  | .array items => FloatFreeItems items
  | .object members => FloatFreeMembers members
  | _ => True

/-- No double occurs in an item. -/
def FloatFreeItems : List Value → Prop
  | [] => True
  | v :: rest => FloatFree v ∧ FloatFreeItems rest

/-- No double occurs in the value of a member. -/
def FloatFreeMembers : List (String × Value) → Prop
  | [] => True
  | m :: rest => FloatFree m.2 ∧ FloatFreeMembers rest

end

mutual

/-- How many arrays and objects stand inside one another. -/
def depth : Value → Nat
  | .array items => depthItems items + 1
  | .object members => depthMembers members + 1
  | _ => 0

/-- The greatest depth of an item. -/
def depthItems : List Value → Nat
  | [] => 0
  | v :: rest => max (depth v) (depthItems rest)

/-- The greatest depth of the value of a member. -/
def depthMembers : List (String × Value) → Nat
  | [] => 0
  | m :: rest => max (depth m.2) (depthMembers rest)

end

/-- The names after an insertion are the names before it and the new one. -/
theorem mem_insertMember {name other : String} {v : Value} {members : List (String × Value)} :
    other ∈ (insertMember name v members).map (·.1) ↔
      other = name ∨ other ∈ members.map (·.1) := by
  induction members with
  | nil => simp [insertMember]
  | cons m rest ih =>
    obtain ⟨k, w⟩ := m
    simp only [insertMember]
    split
    · simp
    · split
      · next h => subst h; simp
      · simp only [List.map_cons, List.mem_cons, ih]
        constructor <;> rintro (h | h | h) <;> simp [h]

/-- Inserting keeps the names in ascending order.

**Proof sketch.** By induction on the members. A name that is smaller than the first one goes to
the front, an equal one replaces it, and a greater one goes into the rest, whose names, old and
new, stay above the first. -/
theorem insertMember_ascending {name : String} {v : Value} {members : List (String × Value)}
    (h : (members.map (·.1)).Pairwise (· < ·)) :
    ((insertMember name v members).map (·.1)).Pairwise (· < ·) := by
  induction members with
  | nil => simp [insertMember]
  | cons m rest ih =>
    obtain ⟨k, w⟩ := m
    simp only [List.map_cons, List.pairwise_cons] at h
    simp only [insertMember]
    split
    · next hlt =>
      simp only [List.map_cons, List.pairwise_cons, List.mem_cons]
      refine ⟨?_, h⟩
      rintro a (rfl | ha)
      · exact hlt
      · exact String.lt_trans hlt (h.1 a ha)
    · split
      · next heq => subst heq; simpa using h
      · next hlt hne =>
        simp only [List.map_cons, List.pairwise_cons]
        refine ⟨fun a ha => ?_, ih h.2⟩
        rcases mem_insertMember.1 ha with rfl | ha
        · rcases Decidable.em (k < a) with hk | hk
          · exact hk
          · exact absurd (String.le_antisymm (String.not_lt.1 hk) (String.not_lt.1 hlt)) hne
        · exact h.1 a ha

end Value

end Messenger.Json
