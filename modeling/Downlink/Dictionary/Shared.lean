/-
**A dictionary that can be replaced.**

Readers take a snapshot of the current dictionary and go on with it for as long as they like. A
replacement is seen by later snapshots only. Snapshots of one dictionary have the same generation,
and two dictionaries never share one, be they equal or not.
-/

import Downlink.Dictionary.Basic

namespace Downlink

/-- A dictionary as it was taken from its place. -/
structure DictionarySnapshot where
  /-- How many dictionaries were there before. -/
  generation : Nat
  dictionary : Dictionary

/-- A place that always has a dictionary. -/
structure SharedDictionary where
  snapshot : DictionarySnapshot

namespace SharedDictionary

/-- A new place for a dictionary. -/
def of (dictionary : Dictionary) : SharedDictionary :=
  ⟨⟨0, dictionary⟩⟩

/-- Puts another dictionary in the place and gives out the one that was there. -/
def replace (shared : SharedDictionary) (dictionary : Dictionary) :
    SharedDictionary × DictionarySnapshot :=
  (⟨⟨shared.snapshot.generation + 1, dictionary⟩⟩, shared.snapshot)

end SharedDictionary

/-- Whether two snapshots are of the same dictionary. -/
def DictionarySnapshot.sameAs (first second : DictionarySnapshot) : Bool :=
  first.generation == second.generation

end Downlink
