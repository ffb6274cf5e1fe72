/-
The values that parameters and variables hold.

The language itself writes four kinds of value: null, booleans, numbers and text. A host can also
hand in whole numbers of any size, which count as numbers, and lists, which have no kind and are
carried along without being accepted anywhere a kind is asked for.
-/
import SceneLang.Number.Layout
import SceneLang.Text.Quoted

namespace SceneLang

/-- What a parameter or a variable can hold. -/
inductive Value where
  | null
  | bool (flag : Bool)
  | number (x : Binary64)
  | text (content : String)
  /-- a whole number of a host, of any size -/
  | integer (n : Int)
  /-- a list of a host, which is no value of the language -/
  | list (items : List Value)

/-- The kinds of value. -/
inductive Kind where
  | null
  | bool
  | number
  | string
  deriving DecidableEq, Repr

/-- The name of a kind. -/
def Kind.name : Kind → String
  | .null => "null"
  | .bool => "bool"
  | .number => "number"
  | .string => "string"

namespace Value

instance : Inhabited Value := ⟨null⟩
instance : Coe String Value := ⟨text⟩

/-- The kind of a value; a list has none. -/
def kind? : Value → Option Kind
  | .null => some .null
  | .bool _ => some .bool
  | .number _ | .integer _ => some .number
  | .text _ => some .string
  | .list _ => none

/-- Whether a value is one that the language itself writes. -/
def isNative : Value → Bool
  | .null | .bool _ | .number _ | .text _ => true
  | .integer _ | .list _ => false

/-- Whether a value counts as true for a host: all but null, false, zero, and what is empty. -/
def isTruthy : Value → Bool
  | .null => false
  | .bool flag => flag
  | .number x => !x.isZero
  | .text s => s ≠ ""
  | .integer n => n ≠ 0
  | .list items => !items.isEmpty

/-! ## Equality -/

mutual

/-- Whether two values are the same. -/
def same : Value → Value → Bool
  | .null, .null => true
  | .bool a, .bool b => a = b
  | .number a, .number b => a = b
  | .text a, .text b => a = b
  | .integer a, .integer b => a = b
  | .list as, .list bs => sameItems as bs
  | _, _ => false

/-- Whether two lists hold the same values. -/
def sameItems : List Value → List Value → Bool
  | [], [] => true
  | a :: as, b :: bs => same a b && sameItems as bs
  | _, _ => false

end

mutual

theorem same_self : ∀ a : Value, same a a = true
  | .null => rfl
  | .bool a | .number a | .text a | .integer a => by simp [same]
  | .list as => by simpa [same] using sameItems_self as

theorem sameItems_self : ∀ as : List Value, sameItems as as = true
  | [] => rfl
  | a :: as => by simp [sameItems, same_self a, sameItems_self as]

end

mutual

theorem eq_of_same : ∀ a b : Value, same a b = true → a = b
  | .null, b, h => by cases b <;> simp_all [same]
  | .bool a, b, h | .number a, b, h | .text a, b, h | .integer a, b, h => by cases b <;> simp_all [same]
  | .list as, b, h => by
    cases b with
    | list bs => rw [eq_of_sameItems as bs (by simpa [same] using h)]
    | _ => simp [same] at h

theorem eq_of_sameItems : ∀ as bs : List Value, sameItems as bs = true → as = bs
  | [], bs, h => by cases bs <;> simp_all [sameItems]
  | a :: as, bs, h => by
    cases bs with
    | nil => simp [sameItems] at h
    | cons b bs =>
      simp only [sameItems, Bool.and_eq_true] at h
      rw [eq_of_same a b h.1, eq_of_sameItems as bs h.2]

end

instance : DecidableEq Value := fun a b =>
  decidable_of_iff (same a b = true) ⟨eq_of_same a b, fun h => h ▸ same_self a⟩

/-! ## Values in messages -/

mutual

/-- A value as a list shows it. -/
def display : Value → String
  | .null => "None"
  | .bool flag => if flag then "True" else "False"
  | .number x => x.toText
  | .text s => Text.quoted s
  | .integer n => integerText n
  | .list items => "[" ++ ", ".intercalate (displayItems items) ++ "]"

/-- The values of a list, each as the list shows it. -/
def displayItems : List Value → List String
  | [] => []
  | item :: items => display item :: displayItems items

end

/-- A value in the middle of a message: text as it is, all else as a list shows it. -/
def plain : Value → String
  | .text s => s
  | v => v.display

@[simp] theorem plain_text (s : String) : plain (.text s) = s := rfl

end Value

end SceneLang
