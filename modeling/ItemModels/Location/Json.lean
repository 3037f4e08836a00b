import ItemModels.Json.Fault
import ItemModels.Json.Render
import ItemModels.Location

namespace ItemModels
namespace Location

/-!
Locations in JSON.

A location is written as a string, which is its text form.  Any string is read as
the location that it names, and nothing else is one.
-/

open Json (Outline Fault)

def toJson (location : Location) : Json :=
  .string location.toText

/-- Reads a location from a value that is already in memory. -/
def ofJson (value : Json) : Except Fault Location := do
  let text <- Json.text value
  .ok (ofText text)

/-- Reads a location from the outline of a text. -/
def ofOutline (outline : Outline) : Except Fault Location := do
  let text <- outline.text
  .ok (ofText text)

def read (text : String) : Except Fault Location :=
  Json.document ofOutline text

end Location
end ItemModels
