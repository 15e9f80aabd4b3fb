import MessageTemplate.Data

/-!
# Equality of dynamic values

* `Data.decEq` — decides whether two values are equal, part by part.
-/

set_option autoImplicit false

namespace MessageTemplate.Data

mutual

/-- Decides whether two values are equal. -/
def decEq : (a b : Data) → Decidable (a = b)
  | .null, b =>
    match b with
    | .null => isTrue rfl
    | .bool _ | .int _ | .float _ | .str _ | .list _ | .object _ => isFalse (by simp)
  | .bool x, b =>
    match b with
    | .bool y => if h : x = y then isTrue (by rw [h]) else isFalse (by simp [h])
    | .null | .int _ | .float _ | .str _ | .list _ | .object _ => isFalse (by simp)
  | .int m, b =>
    match b with
    | .int n => if h : m = n then isTrue (by rw [h]) else isFalse (by simp [h])
    | .null | .bool _ | .float _ | .str _ | .list _ | .object _ => isFalse (by simp)
  | .float x, b =>
    match b with
    | .float y => if h : x = y then isTrue (by rw [h]) else isFalse (by simp [h])
    | .null | .bool _ | .int _ | .str _ | .list _ | .object _ => isFalse (by simp)
  | .str s, b =>
    match b with
    | .str t => if h : s = t then isTrue (by rw [h]) else isFalse (by simp [h])
    | .null | .bool _ | .int _ | .float _ | .list _ | .object _ => isFalse (by simp)
  | .list items, b =>
    match b with
    | .list others =>
      match decEqItems items others with
      | isTrue h => isTrue (by rw [h])
      | isFalse h => isFalse (by simp [h])
    | .null | .bool _ | .int _ | .float _ | .str _ | .object _ => isFalse (by simp)
  | .object members, b =>
    match b with
    | .object others =>
      match decEqMembers members others with
      | isTrue h => isTrue (by rw [h])
      | isFalse h => isFalse (by simp [h])
    | .null | .bool _ | .int _ | .float _ | .str _ | .list _ => isFalse (by simp)

/-- Decides whether the entries of two lists are equal. -/
def decEqItems : (as bs : List Data) → Decidable (as = bs)
  | [], [] => isTrue rfl
  | [], _ :: _ => isFalse (by simp)
  | _ :: _, [] => isFalse (by simp)
  | a :: as, b :: bs =>
    match decEq a b with
    | isTrue h =>
      match decEqItems as bs with
      | isTrue hs => isTrue (by rw [h, hs])
      | isFalse hs => isFalse (by simp [hs])
    | isFalse h => isFalse (by simp [h])

/-- Decides whether the members of two objects are equal and in the same order. -/
def decEqMembers : (as bs : List (String × Data)) → Decidable (as = bs)
  | [], [] => isTrue rfl
  | [], _ :: _ => isFalse (by simp)
  | _ :: _, [] => isFalse (by simp)
  | (m, a) :: as, (n, b) :: bs =>
    if h : m = n then
      match decEq a b with
      | isTrue h' =>
        match decEqMembers as bs with
        | isTrue hs => isTrue (by rw [h, h', hs])
        | isFalse hs => isFalse (by simp [hs])
      | isFalse h' => isFalse (by simp [h'])
    else isFalse (by simp [h])

end

instance : DecidableEq Data := decEq

end MessageTemplate.Data
