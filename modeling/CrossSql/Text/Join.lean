/-!
# Joining texts

Items are written one after another to an output. The separator goes in front of an item exactly
when the item before it left something behind, and that shows in the length of the output.

## Main definitions

* `Listing`, `Listing.item`: an output between two items, and what the next one makes of it.
* `separatedBy`: an output with all items behind it.
* `joinFrom`: what the items add to the output.
-/

namespace CrossSql.Text

/-- The separator goes before the first item when `grew` holds, and before a later one when the
item before it is not empty. -/
def joinFrom (separator : String) (grew : Bool) : List String → String
  | [] => ""
  | x :: r => (if grew then separator else "") ++ x ++ joinFrom separator (x != "") r

/-- An output, and how many bytes it had in front of the last item. -/
structure Listing where
  text : String
  bytes : Nat

namespace Listing

/-- Nothing is listed yet behind `start`. -/
def opened (start : String) : Listing := ⟨start, start.utf8ByteSize⟩

/-- Whether the last item left something behind. -/
def grew (l : Listing) : Bool := l.bytes < l.text.utf8ByteSize

def item (separator : String) (l : Listing) (x : String) : Listing :=
  let out := if l.grew then l.text ++ separator else l.text
  ⟨out ++ x, out.utf8ByteSize⟩

@[simp] theorem text_opened (start : String) : (opened start).text = start := rfl

@[simp] theorem grew_opened (start : String) : (opened start).grew = false := by
  simp [grew, opened]

theorem text_item (separator : String) (l : Listing) (x : String) :
    (l.item separator x).text = l.text ++ ((if l.grew then separator else "") ++ x) := by
  unfold item
  split <;> simp [String.append_assoc]

/-- The output has grown if the item has a text, whatever stands in front of it. -/
@[simp] theorem grew_item (separator : String) (l : Listing) (x : String) :
    (l.item separator x).grew = (x != "") := by
  by_cases h : x = ""
  · simp [grew, item, h]
  · have : 0 < x.utf8ByteSize := Nat.pos_of_ne_zero (mt String.utf8ByteSize_eq_zero_iff.1 h)
    simp [grew, item, h, this]

end Listing

/-- Appends the items to `start`. -/
def separatedBy (start : String) (items : List String) (separator : String) : String :=
  (items.foldl (Listing.item separator) (.opened start)).text

/-- What an output gains by some items depends on whether it has just grown, and on nothing else. -/
theorem Listing.text_foldl_item (separator : String) (items : List String) (l : Listing) :
    (items.foldl (item separator) l).text = l.text ++ joinFrom separator l.grew items := by
  induction items generalizing l with
  | nil => simp [joinFrom]
  | cons x r ih =>
    rw [List.foldl_cons, ih, text_item, grew_item, joinFrom, String.append_assoc]

theorem separatedBy_eq (start : String) (items : List String) (separator : String) :
    separatedBy start items separator = start ++ joinFrom separator false items := by
  simp [separatedBy, Listing.text_foldl_item]

end CrossSql.Text
