/-
**Tables by key.**

A list in which items are looked up by a key is turned into a table once. Where several items have
the same key, the table of first items has the first of them and the table of last items the last:

* `getElem?_firstByKey`: a look-up in the former is a search from the front of the list;
* `getElem?_lastByKey`: a look-up in the latter is a search from its back.
-/

import Std.Data.HashMap

namespace Downlink

variable {Key Item : Type} [BEq Key] [Hashable Key]

/-- The first item of each key. -/
def firstByKey (key : Item → Key) (items : List Item) : Std.HashMap Key Item :=
  items.foldl (fun table item => table.insertIfNew (key item) item) ∅

/-- The last item of each key. -/
def lastByKey (key : Item → Key) (items : List Item) : Std.HashMap Key Item :=
  items.foldl (fun table item => table.insert (key item) item) ∅

variable [LawfulBEq Key] [LawfulHashable Key]

/-- New values only count where the table had none. -/
theorem getElem?_foldl_insertIfNew {Value : Type} (key : Item → Key) (value : Item → Value)
    (items : List Item) (table : Std.HashMap Key Value) (wanted : Key) :
    (items.foldl (fun table item => table.insertIfNew (key item) (value item)) table)[wanted]? =
      (table[wanted]?).or ((items.find? (key · == wanted)).map value) := by
  induction items generalizing table with
  | nil => simp
  | cons item items ih =>
    rw [List.foldl_cons, ih, Std.HashMap.getElem?_insertIfNew, List.find?_cons]
    by_cases same : key item = wanted
    · subst same
      by_cases known : key item ∈ table <;> simp [known]
    · have differs : (key item == wanted) = false := beq_eq_false_iff_ne.mpr same
      simp [differs]

/-- A look-up finds the first item of the key. -/
theorem getElem?_firstByKey (key : Item → Key) (items : List Item) (wanted : Key) :
    (firstByKey key items)[wanted]? = items.find? (key · == wanted) := by
  simp [firstByKey, getElem?_foldl_insertIfNew key fun item => item]

/-- New items count before those that the table had. -/
theorem getElem?_foldl_insert (key : Item → Key) (items : List Item)
    (table : Std.HashMap Key Item) (wanted : Key) :
    (items.foldl (fun table item => table.insert (key item) item) table)[wanted]? =
      (items.reverse.find? (key · == wanted)).or table[wanted]? := by
  induction items generalizing table with
  | nil => simp
  | cons item items ih =>
    rw [List.foldl_cons, ih, Std.HashMap.getElem?_insert, List.reverse_cons, List.find?_append]
    by_cases same : key item = wanted
    · simp [same]
    · have differs : (key item == wanted) = false := beq_eq_false_iff_ne.mpr same
      simp [differs]

/-- A look-up finds the last item of the key. -/
theorem getElem?_lastByKey (key : Item → Key) (items : List Item) (wanted : Key) :
    (lastByKey key items)[wanted]? = items.reverse.find? (key · == wanted) := by
  simp [lastByKey, getElem?_foldl_insert]

end Downlink
