import Waterway.Alert.Provider
import Waterway.Reading.Shelf
import Waterway.Registry.Engine

/-!
# Surroundings kept in memory

A world around the engine without a database: readings on a shelf, thresholds laid down in advance, and
a list of locations.

## Main definitions

- `Memory` — the world and a record of what it has been asked
- `Memory.surroundings` — what the engine asks, answered from memory
-/

namespace Waterway

/-- A world kept in memory. -/
structure Memory where
  shelf : Shelf := {}
  supply : Supply := {}
  directory : Except EngineError (List Devices) := .ok []
  /-- What the store has been asked so far. -/
  inquiries : List Inquiry := []

namespace Memory

def thresholds (now : Nat) : StateM Memory (Except EngineError Thresholds) :=
  modifyGet fun m =>
    let (answer, supply) := (Supply.ask now).run m.supply
    (answer, { m with supply })

def look {α : Type} (question : ReadingStore (StateM (List Inquiry)) → StateM (List Inquiry) α) :
    StateM Memory α :=
  modifyGet fun m =>
    let (answer, inquiries) := (question m.shelf.store).run m.inquiries
    (answer, { m with inquiries })

def store : ReadingStore (StateM Memory) where
  waterLevel device := look (·.waterLevel device)
  blockage device := look (·.blockage device)
  weather location := look (·.weather location)

/-- What the engine asks, answered from memory. -/
def surroundings : Surroundings Memory where
  thresholds := thresholds
  store := store
  directory := return (← get).directory

end Memory

end Waterway
