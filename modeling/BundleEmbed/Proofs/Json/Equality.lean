import BundleEmbed.Json.Value

/-!
Equality of JSON values, so that what a text reads as can be evaluated.
-/

namespace BundleEmbed

namespace JsonValue

mutual

/-- Two values are the same, compared part by part. -/
def same : JsonValue → JsonValue → Bool
  | .null, .null => true
  | .bool a, .bool b => a == b
  | .integer a, .integer b => a == b
  | .decimal a, .decimal b => a == b
  | .notANumber, .notANumber => true
  | .infinite a, .infinite b => a == b
  | .string a, .string b => a == b
  | .array a, .array b => sameItems a b
  | .object a, .object b => sameMembers a b
  | _, _ => false

/-- Two lists have the same values. -/
def sameItems : List JsonValue → List JsonValue → Bool
  | [], [] => true
  | a :: as, b :: bs => same a b && sameItems as bs
  | _, _ => false

/-- Two objects have the same members in the same order. -/
def sameMembers : List (Text × JsonValue) → List (Text × JsonValue) → Bool
  | [], [] => true
  | (key, a) :: as, (key', b) :: bs => key == key' && (same a b && sameMembers as bs)
  | _, _ => false

end

mutual

/-- Values are compared as they are. -/
theorem same_iff (a b : JsonValue) : same a b = true ↔ a = b := by
  cases a with
  | array as =>
      cases b with
      | array bs => simp [same, sameItems_iff as bs]
      | _ => simp [same]
  | object as =>
      cases b with
      | object bs => simp [same, sameMembers_iff as bs]
      | _ => simp [same]
  | _ => cases b <;> simp [same]

/-- Lists are compared as they are. -/
theorem sameItems_iff : ∀ as bs : List JsonValue, sameItems as bs = true ↔ as = bs
  | [], bs => by cases bs <;> simp [sameItems]
  | a :: as, [] => by simp [sameItems]
  | a :: as, b :: bs => by simp [sameItems, same_iff a b, sameItems_iff as bs]

/-- Objects are compared as they are, in the order of their members. -/
theorem sameMembers_iff :
    ∀ as bs : List (Text × JsonValue), sameMembers as bs = true ↔ as = bs
  | [], bs => by cases bs <;> simp [sameMembers]
  | (key, a) :: as, [] => by simp [sameMembers]
  | (key, a) :: as, (key', b) :: bs => by
      simp [sameMembers, same_iff a b, sameMembers_iff as bs, and_assoc]

end

instance : DecidableEq JsonValue := fun a b => decidable_of_iff _ (same_iff a b)

end JsonValue

end BundleEmbed
