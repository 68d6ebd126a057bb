import LabelTemplate.Text.Basic

/-!
# The printer's commands

The commands of the label language that this library looks for. A command is a
caret or a tilde and letters; a format stands between `formatStart` and
`formatEnd`, and a field statement between its positioning command and
`fieldEnd`.
-/

namespace LabelTemplate.Command

/-- Begins a format. -/
def formatStart : Text := ['^', 'X', 'A']

/-- Ends a format. -/
def formatEnd : Text := ['^', 'X', 'Z']

/-- Positions a field by its upper left corner. -/
def fieldOrigin : Text := ['^', 'F', 'O']

/-- Positions a field by its base line. -/
def fieldTypeset : Text := ['^', 'F', 'T']

/-- Announces the data of a field. -/
def fieldData : Text := ['^', 'F', 'D']

/-- Ends a field statement. -/
def fieldEnd : Text := ['^', 'F', 'S']

/-- Announces that the data of the field may have escapes; a character after it is the escape. -/
def hexMarker : Text := ['^', 'F', 'H']

/-- Prints a stored graphic. -/
def graphicCall : Text := ['^', 'X', 'G']

/-- Prints an EAN-13 bar code. -/
def ean13 : Text := ['^', 'B', 'E']

/-- Prints a Code 128 bar code. -/
def code128 : Text := ['^', 'B', 'C']

/-- Sets the media to labels with gaps between them. -/
def gapMedia : Text := ['^', 'M', 'N', 'Y']

/-- Says whether the label image is kept for the next format. -/
def keepImage : Text := ['^', 'M', 'C']

/-- Deletes a stored object. -/
def deleteObject : Text := ['^', 'I', 'D']

/-- Stores a graphic; its name follows up to a comma. -/
def storeGraphic : Text := ['~', 'D', 'G']

end LabelTemplate.Command
