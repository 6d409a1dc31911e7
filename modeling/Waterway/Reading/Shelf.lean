import Waterway.Reading.Store

/-!
# Readings kept in memory

A store that holds at most one reading per key, may fail for some feeds, and records what it is asked.

## Main definitions

- `Shelf` — the readings
- `Inquiry` — one question
- `Shelf.store` — the store, whose monad collects the inquiries
-/

namespace Waterway

/-- Readings kept in memory; of two under one key the later in the list counts. -/
structure Shelf where
  waterLevels : List (RowId × WaterLevel Float) := []
  blockages : List (RowId × Blockage) := []
  weathers : List (LocationId × Weather Float) := []
  /-- Feeds that answer with an error. -/
  failing : List (Source × EngineError) := []

/-- A question that a store was asked. -/
structure Inquiry where
  source : Source
  key : RowId
deriving Repr, DecidableEq

namespace Shelf

/-- Answers a question from a list of readings. -/
def answer {α : Type} (s : Shelf) (source : Source) (readings : List (RowId × α)) (key : RowId) :
    StoreAnswer α :=
  match s.failing.reverse.lookup source with
  | some error => .error error
  | none => .ok (readings.reverse.lookup key)

/-- Records a question and answers it. -/
def recorded {α : Type} (s : Shelf) (source : Source) (readings : List (RowId × α)) (key : RowId) :
    StateM (List Inquiry) (StoreAnswer α) := do
  modify (· ++ [⟨source, key⟩])
  return s.answer source readings key

/-- The store with these readings. -/
def store (s : Shelf) : ReadingStore (StateM (List Inquiry)) where
  waterLevel := s.recorded .waterLevel s.waterLevels
  blockage := s.recorded .blockage s.blockages
  weather := s.recorded .weather s.weathers

end Shelf

end Waterway
