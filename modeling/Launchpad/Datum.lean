/-!
# Plain data

A datum carries no behaviour. Data say what a participant captured when it was made, what it remarks
while it is called, and how launches are described and shown. Reading never fails: a part that is
absent, or of another shape than the one asked for, reads as the empty value of that shape. The main
statements are that a list reads back as it was made and that a record answers with the first field
of a name.
-/

namespace Launchpad

mutual

/-- A value without behaviour. -/
inductive Datum where
  | nothing
  | flag (value : Bool)
  | number (value : Int)
  | text (value : String)
  | sequence (items : DatumItems)
  | record (fields : DatumFields)
  deriving DecidableEq, Repr

/-- The items of a sequence. -/
inductive DatumItems where
  | nil
  | cons (item : Datum) (rest : DatumItems)
  deriving DecidableEq, Repr

/-- The named fields of a record. -/
inductive DatumFields where
  | nil
  | cons (key : String) (value : Datum) (rest : DatumFields)
  deriving DecidableEq, Repr

end

instance : Inhabited Datum := ⟨.nothing⟩

namespace DatumItems

/-- The items as a list. -/
def toList : DatumItems → List Datum
  | nil => []
  | cons item rest => item :: rest.toList

/-- The items of a list. -/
def ofList : List Datum → DatumItems
  | [] => nil
  | item :: rest => cons item (ofList rest)

@[simp] theorem toList_ofList (items : List Datum) : (ofList items).toList = items := by
  induction items with
  | nil => rfl
  | cons item rest rest_ih => simp [ofList, toList, rest_ih]

end DatumItems

namespace DatumFields

/-- The fields as pairs of a name and a value. -/
def toList : DatumFields → List (String × Datum)
  | nil => []
  | cons key value rest => (key, value) :: rest.toList

/-- The fields of a list of pairs. -/
def ofList : List (String × Datum) → DatumFields
  | [] => nil
  | (key, value) :: rest => cons key value (ofList rest)

@[simp] theorem toList_ofList (fields : List (String × Datum)) :
    (ofList fields).toList = fields := by
  induction fields with
  | nil => rfl
  | cons field rest rest_ih => simp [ofList, toList, rest_ih]

end DatumFields

namespace Datum

/-- The sequence of some items. -/
def list (items : List Datum) : Datum := sequence (.ofList items)

/-- The record of some fields. -/
def fields (entries : List (String × Datum)) : Datum := record (.ofList entries)

/-! ## Reading -/

/-- The items of a sequence. -/
def items : Datum → List Datum
  | sequence items => items.toList
  | _ => []

@[simp] theorem items_list (entries : List Datum) : (list entries).items = entries := by
  simp [list, items]

/-- The fields of a record. -/
def entries : Datum → List (String × Datum)
  | record fields => fields.toList
  | _ => []

@[simp] theorem entries_fields (pairs : List (String × Datum)) :
    (fields pairs).entries = pairs := by
  simp [fields, entries]

/-- The field of a name. -/
def field (datum : Datum) (key : String) : Datum := (datum.entries.lookup key).getD nothing

/-- Whether there is a field of a name that holds something. -/
def has (datum : Datum) (key : String) : Bool := datum.field key ≠ nothing

/-- The text that a datum is, if it is one. -/
def asText? : Datum → Option String
  | text value => some value
  | _ => none

/-- The number that a datum is, if it is one of 64 bits. -/
def asNumber? : Datum → Option Int
  | number value => if value.bmod UInt64.size = value then some value else none
  | _ => none

/-- The code or rank that a datum is: the lower 32 bits of its number. -/
def asCode? (datum : Datum) : Option Int := datum.asNumber?.map (·.bmod UInt32.size)

/-- The text that a datum is. -/
def asText (datum : Datum) : String := datum.asText?.getD ""

/-- The number that a datum is. -/
def asNumber (datum : Datum) : Int := datum.asNumber?.getD 0

/-- The code that a datum is. -/
def asCode (datum : Datum) : Int := datum.asCode?.getD 0

/-- The text in a field, if it holds one. -/
def textAt? (datum : Datum) (key : String) : Option String := (datum.field key).asText?

/-- The text in a field. -/
def textAt (datum : Datum) (key : String) : String := (datum.field key).asText

/-- The number in a field, if it holds one. -/
def numberAt? (datum : Datum) (key : String) : Option Int := (datum.field key).asNumber?

/-- The number in a field. -/
def numberAt (datum : Datum) (key : String) : Int := (datum.field key).asNumber

/-- The number in a field as a natural one; a negative number reads as zero. -/
def natAt (datum : Datum) (key : String) : Nat := (datum.numberAt key).toNat

/-- Whether a field holds the true flag. -/
def flagAt (datum : Datum) (key : String) : Bool := datum.field key = flag true

/-- The items of the sequence in a field. -/
def itemsAt (datum : Datum) (key : String) : List Datum := (datum.field key).items

/-- The texts in the sequence of a field. -/
def textsAt (datum : Datum) (key : String) : List String := (datum.itemsAt key).map asText

/-- The codes in the sequence of a field. -/
def codesAt (datum : Datum) (key : String) : List Int := (datum.itemsAt key).map asCode

/-- The pairs of texts in a field, which holds either a record or a sequence of pairs. -/
def pairsAt (datum : Datum) (key : String) : List (String × String) :=
  (datum.field key).entries.map (fun entry => (entry.1, entry.2.asText)) ++
    (datum.itemsAt key).map fun item =>
      match item.items with
      | [name, value] => (name.asText, value.asText)
      | _ => ("", "")

end Datum

/-! ## Showing -/

/-- The types whose values have a form as plain data. -/
class ToDatum (α : Type) where
  /-- The form of a value as plain data. -/
  toDatum : α → Datum

export ToDatum (toDatum)

instance : ToDatum Datum := ⟨id⟩
instance : ToDatum Bool := ⟨.flag⟩
instance : ToDatum Int := ⟨.number⟩
instance : ToDatum Nat := ⟨fun number => .number number⟩
instance : ToDatum String := ⟨.text⟩

/-- A result without a value is shown by a word. -/
instance : ToDatum Unit := ⟨fun _ => .text "ok"⟩

instance {α : Type} [ToDatum α] : ToDatum (List α) := ⟨fun items => .list (items.map toDatum)⟩

instance {α : Type} [ToDatum α] : ToDatum (Option α) where
  toDatum value := value.elim .nothing toDatum

instance {α β : Type} [ToDatum α] [ToDatum β] : ToDatum (α × β) where
  toDatum pair := .list [toDatum pair.1, toDatum pair.2]

namespace Datum

/-- A field that is left out if there are no items to show in it. -/
def unlessEmpty {α : Type} [ToDatum α] (key : String) (items : List α) : List (String × Datum) :=
  if items.isEmpty then [] else [(key, toDatum items)]

/-! ## The notation of data -/

/-- How a character is written inside a quoted text. -/
def notatedChar (c : Char) : String :=
  match c with
  | '"' => "\\\""
  | '\\' => "\\\\"
  | '\n' => "\\n"
  | '\r' => "\\r"
  | '\t' => "\\t"
  | '\x08' => "\\b"
  | '\x0c' => "\\f"
  | c =>
    if c.toNat < 32 then
      let digits := Nat.toDigits 16 c.toNat
      "\\u" ++ String.ofList (List.replicate (4 - digits.length) '0' ++ digits)
    else c.toString

/-- A text in quotes. -/
def notatedText (text : String) : String :=
  "\"" ++ String.join (text.toList.map notatedChar) ++ "\""

end Datum

mutual

/-- The notation of a datum: quoted texts, sequences in brackets and records in braces, without
blanks. -/
def Datum.notated : Datum → String
  | .nothing => "null"
  | .flag value => toString value
  | .number value => toString value
  | .text value => Datum.notatedText value
  | .sequence items => "[" ++ ",".intercalate items.notations ++ "]"
  | .record fields => "\x7b" ++ ",".intercalate fields.notations ++ "\x7d"

/-- The notations of the items of a sequence. -/
def DatumItems.notations : DatumItems → List String
  | .nil => []
  | .cons item rest => item.notated :: rest.notations

/-- The notations of the fields of a record. -/
def DatumFields.notations : DatumFields → List String
  | .nil => []
  | .cons key value rest => (Datum.notatedText key ++ ":" ++ value.notated) :: rest.notations

end

end Launchpad
